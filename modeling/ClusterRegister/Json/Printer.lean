
/-!
# Writing JSON text

Strings with the fewest escapes: the quote, the backslash and the control characters of ASCII.
-/

namespace ClusterRegister.Json

def hexDigit (n : Nat) : Char := Nat.digitChar n

def escapedChar (c : Char) : List Char :=
  if c = '\x22' || c = '\\' then ['\\', c]
  else if c.toNat = 0x08 then ['\\', 'b']
  else if c.toNat = 0x0C then ['\\', 'f']
  else if c = '\n' then ['\\', 'n']
  else if c = '\r' then ['\\', 'r']
  else if c = '\t' then ['\\', 't']
  else if c.toNat < 0x20 then ['\\', 'u', '0', '0', hexDigit (c.toNat / 16), hexDigit (c.toNat % 16)]
  else [c]

def stringText (cs : List Char) : List Char := '\x22' :: cs.flatMap escapedChar ++ ['\x22']

def separated : List (List Char) → List Char
  | [] => []
  | [item] => item
  | item :: rest => item ++ ',' :: separated rest

def listText (items : List (List Char)) : List Char := '[' :: separated items ++ [']']

def objectText (members : List (String × List Char)) : List Char :=
  '\x7b' :: separated (members.map fun m => stringText m.1.toList ++ ':' :: m.2) ++ ['\x7d']

end ClusterRegister.Json
