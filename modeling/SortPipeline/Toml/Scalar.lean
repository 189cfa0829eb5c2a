import SortPipeline.Toml.Datetime
import SortPipeline.Toml.Number
import SortPipeline.Toml.Text

namespace SortPipeline.Toml

def endsWord (c : Char) : Bool :=
  [' ', '\t', '\r', '\n', '#', '=', ',', '[', ']', '\x7b', '\x7d'].contains c

def startsWord : List Char → Bool
  | c :: _ => !endsWord c && c ≠ '"' && c ≠ '\x27' && c ≠ '.'
  | [] => false

def scalarToken : List Char → List Char × List Char
  | [] => ([], [])
  | c :: cs =>
    if !endsWord c || (isSpace c && startsWord (skipSpaces cs)) then
      let (token, rest) := scalarToken cs
      (c :: token, rest)
    else ([], c :: cs)

def itemOfToken? (token : List Char) : Option Item :=
  match token with
  | ['t', 'r', 'u', 'e'] => some (.bool true)
  | ['f', 'a', 'l', 's', 'e'] => some (.bool false)
  | _ =>
    match datetimeOfToken? token with
    | some text => some (.datetime (String.ofList text))
    | none => numberOfToken? token

def readScalar? (cs : List Char) : Option (Item × List Char) :=
  let (token, rest) := scalarToken cs
  (itemOfToken? token).map (·, rest)

end SortPipeline.Toml
