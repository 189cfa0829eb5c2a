import SortPipeline.Text.Segments

namespace SortPipeline

structure Token where
  name : String
  descending : Bool
  deriving DecidableEq

namespace Token

/-- Only the first hyphen is a marker. -/
def ofChars : List Char → Token
  | '-' :: name => ⟨String.ofList name, true⟩
  | name => ⟨String.ofList name, false⟩

def toChars (t : Token) : List Char :=
  if t.descending then '-' :: t.name.toList else t.name.toList

end Token

namespace Directive

def tokens (directive : String) : List Token :=
  (Text.cut ',' directive.toList).map Token.ofChars

def ofTokens (tokens : List Token) : String :=
  String.ofList (Text.join ',' (tokens.map Token.toChars))

end Directive

end SortPipeline
