import ClusterRegister.Json.Scan

/-!
# Values that do not matter

The rest of a text after one well-formed value of any kind. Nesting is bounded by the text alone.
-/

namespace ClusterRegister.Json

/-- What must follow a value inside a list or an object: white space, then a comma (`true`) or the
closing bracket (`false`), and the rest after it. -/
def scanSeparator (close : UInt8) (ended expected : Cause) (s : Bytes) : Except Fault (Bool × Bytes) :=
  match skipSpace s with
  | [] => .error (faultPast ended [])
  | b :: r =>
    if b = byte ',' then .ok (true, r)
    else if b = close then .ok (false, r)
    else .error (faultPast expected (b :: r))

/-- White space, a key that does not matter and its colon. -/
def skipKey (s : Bytes) : Except Fault Bytes :=
  match skipSpace s with
  | [] => .error (faultPast .endInObject [])
  | b :: r =>
    if b ≠ byte '\x22' then .error (faultPast .keyNotString (b :: r))
    else do
      let s ← skipString r
      match skipSpace s with
      | [] => throw (faultPast .endInObject [])
      | b :: r => if b = byte ':' then pure r else throw (faultPast .expectedColon (b :: r))

mutual

/-- The rest after white space and a value. Each step, and each step of the other two, takes one unit
of fuel. -/
def skipValueWith : Nat → Bytes → Except Fault Bytes
  | 0, s => .error (faultAt .endInValue s)
  | fuel + 1, s =>
    match skipSpace s with
    | [] => .error (faultPast .endInValue [])
    | b :: r =>
      if b = byte 'n' || b = byte 't' || b = byte 'f' then scanWord (wordTail b) r
      else if b = byte '-' then skipNumber r
      else if isDigit b then skipNumber (b :: r)
      else if b = byte '\x22' then skipString r
      else if b = byte '[' then
        match skipSpace r with
        | [] => .error (faultPast .endInList [])
        | c :: after => if c = byte ']' then .ok after else skipElements fuel (c :: after)
      else if b = byte '\x7b' then
        match skipSpace r with
        | [] => .error (faultPast .endInObject [])
        | c :: after => if c = byte '\x7d' then .ok after else skipMembers fuel (c :: after)
      else .error (faultPast .expectedValue (b :: r))

/-- The rest after the elements of a list, at least one, and its closing bracket. -/
def skipElements : Nat → Bytes → Except Fault Bytes
  | 0, s => .error (faultAt .endInValue s)
  | fuel + 1, s => do
    let s ← skipValueWith fuel s
    let (more, s) ← scanSeparator (byte ']') .endInList .expectedListComma s
    if more then skipElements fuel s else pure s

/-- The rest after the members of an object, at least one, and its closing brace. -/
def skipMembers : Nat → Bytes → Except Fault Bytes
  | 0, s => .error (faultAt .endInValue s)
  | fuel + 1, s => do
    let s ← skipKey s
    let s ← skipValueWith fuel s
    let (more, s) ← scanSeparator (byte '\x7d') .endInObject .expectedObjectComma s
    if more then skipMembers fuel s else pure s

end

/-- The rest after white space and a value. Two steps for each byte are enough. -/
def skipValue (s : Bytes) : Except Fault Bytes := skipValueWith (2 * s.length + 2) s

end ClusterRegister.Json
