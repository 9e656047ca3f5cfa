/-!
# Tokens of a line

A line is cut at spaces and tabs. Either quote mark opens or closes a quoted span, in which spaces and
tabs stay; the marks themselves are dropped, and a span that is not closed runs to the end.
-/

namespace ClusterRegister.Line

/-- The characters that open and close quoted spans. -/
def isQuote (c : Char) : Bool := c = '\x22' || c = '\x27'

/-- The characters that separate tokens outside quoted spans. -/
def isGap (c : Char) : Bool := c = ' ' || c = '\t'

/-- A finished token, unless it is empty. -/
def finished (word : List Char) : List String :=
  if word.isEmpty then [] else [String.ofList word.reverse]

/-- The tokens of the rest of a line: `inQuotes` says whether it starts inside a quoted span, and `word`
holds what the current token has so far, last character first. -/
def tokensFrom (inQuotes : Bool) (word : List Char) : List Char → List String
  | [] => finished word
  | c :: cs =>
    if isQuote c then tokensFrom (!inQuotes) word cs
    else if isGap c && !inQuotes then finished word ++ tokensFrom false [] cs
    else tokensFrom inQuotes (c :: word) cs

def tokens (line : String) : List String := tokensFrom false [] line.toList

end ClusterRegister.Line
