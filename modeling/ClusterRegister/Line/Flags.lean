import ClusterRegister.Table

/-!
# Flags

Tokens of the form `--key=value` or `-key=value` set flags; the key ends at the first equals sign. Other
tokens are ignored, and of the flags with one key the last counts.
-/

namespace ClusterRegister.Line

abbrev Flags := Table String String

/-- What a token says after its dashes: two if it starts with two, else one, but not a dash alone. -/
def flagBody : List Char → Option (List Char)
  | '-' :: '-' :: body => some body
  | ['-'] => none
  | '-' :: body => some body
  | _ => none

/-- The parts of a text before and after its first equals sign. -/
def splitAtEquals : List Char → Option (List Char × List Char)
  | [] => none
  | c :: cs => if c = '=' then some ([], cs) else (splitAtEquals cs).map fun (k, v) => (c :: k, v)

/-- The key and value of a token that sets a flag. -/
def flag? (token : String) : Option (String × String) := do
  let body ← flagBody token.toList
  let (key, value) ← splitAtEquals body
  pure (String.ofList key, String.ofList value)

def flags (tokens : List String) : Flags := Table.ofList (tokens.filterMap flag?)

end ClusterRegister.Line
