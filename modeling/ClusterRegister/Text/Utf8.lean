/-!
# UTF-8

Characters as bytes and back. Bytes are read by an automaton that is either between characters or
inside one: what does not continue a character ends it as one ill-formed piece and is read again from
between characters. So a piece never reaches past the byte that breaks it.
-/

namespace ClusterRegister

abbrev Bytes := List UInt8

namespace Utf8

def encode (cs : List Char) : Bytes := cs.flatMap String.utf8EncodeChar

def bytes (s : String) : Bytes := encode s.toList

@[simp] theorem encode_nil : encode [] = [] := rfl

@[simp] theorem encode_append (a b : List Char) : encode (a ++ b) = encode a ++ encode b := by
  simp [encode]

@[simp] theorem bytes_append (a b : String) : bytes (a ++ b) = bytes a ++ bytes b := by
  simp [bytes]

/-- The replacement character, which stands for an ill-formed piece. -/
def replacement : Char := '\uFFFD'

/-- Where the automaton is: between characters, or inside one that still lacks `more + 1` bytes, the
next of which lies between `lo` and `hi`; `high` is the number that its bytes so far denote. -/
inductive State
  | between
  | inside (more : Nat) (lo hi : UInt8) (high : Nat)
deriving DecidableEq, Repr

/-- Reads one byte between characters: what is complete with it (`none`: an ill-formed piece) and the
state after it. The bounds on the second byte exclude overlong forms, surrogates and numbers above
`10FFFF`. -/
def start (b : UInt8) : List (Option Char) × State :=
  if b < 0x80 then ([some (Char.ofNat b.toNat)], .between)
  else if b < 0xC2 then ([none], .between)
  else if b < 0xE0 then ([], .inside 0 0x80 0xBF (b.toNat - 0xC0))
  else if b = 0xE0 then ([], .inside 1 0xA0 0xBF 0)
  else if b = 0xED then ([], .inside 1 0x80 0x9F 0xD)
  else if b < 0xF0 then ([], .inside 1 0x80 0xBF (b.toNat - 0xE0))
  else if b = 0xF0 then ([], .inside 2 0x90 0xBF 0)
  else if b < 0xF4 then ([], .inside 2 0x80 0xBF (b.toNat - 0xF0))
  else if b = 0xF4 then ([], .inside 2 0x80 0x8F 4)
  else ([none], .between)

def step : State → UInt8 → List (Option Char) × State
  | .between, b => start b
  | .inside more lo hi high, b =>
    if lo ≤ b && b ≤ hi then
      let value := high * 64 + (b.toNat - 0x80)
      match more with
      | 0 => ([some (Char.ofNat value)], .between)
      | more + 1 => ([], .inside more 0x80 0xBF value)
    else
      let (pieces, next) := start b
      (none :: pieces, next)

/-- The pieces that bytes consist of, read from a state: characters, and `none` for each ill-formed
piece. A character cut off by the end is ill-formed. -/
def piecesFrom : State → Bytes → List (Option Char)
  | .between, [] => []
  | .inside _ _ _ _, [] => [none]
  | state, b :: rest =>
    let (pieces, next) := step state b
    pieces ++ piecesFrom next rest

/-- The characters and ill-formed pieces of a byte sequence. -/
def pieces (bs : Bytes) : List (Option Char) := piecesFrom .between bs

/-- The text of a byte sequence, each ill-formed piece replaced. -/
def decodeLossy (bs : Bytes) : List Char := (pieces bs).map (·.getD replacement)

def leading : List (Option Char) → List Char
  | some c :: rest => c :: leading rest
  | _ => []

/-- The number of bytes before the first ill-formed piece. -/
def wellFormedLength (bs : Bytes) : Nat := (encode (leading (pieces bs))).length

/-- All the values of a list, if it lacks none. -/
def present? : List (Option Char) → Option (List Char)
  | [] => some []
  | none :: _ => none
  | some c :: rest => (present? rest).map (c :: ·)

/-- The text of a byte sequence, if it is well-formed. -/
def decode? (bs : Bytes) : Option (List Char) := present? (pieces bs)

end Utf8

end ClusterRegister
