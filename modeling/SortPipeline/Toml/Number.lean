import SortPipeline.Double.Reading
import SortPipeline.Json.Node
import SortPipeline.Toml.Item

namespace SortPipeline.Toml

def isDigitOf (base : Nat) (c : Char) : Bool := (Json.hexValue? c).any (· < base)

def natOfDigits? (base : Nat) : List Char → Option Nat
  | [] => none
  | digits => digits.foldlM (fun n c => ((Json.hexValue? c).filter (· < base)).map (base * n + ·)) 0

def isSpaced (isDigit : Char → Bool) : List Char → Bool
  | a :: '_' :: b :: cs => isDigit a && isDigit b && isSpaced isDigit (b :: cs)
  | c :: cs => c ≠ '_' && isSpaced isDigit cs
  | [] => true

def withoutUnderscores (cs : List Char) : List Char := cs.filter (· ≠ '_')

def readSign : List Char → Option Bool × List Char
  | '+' :: cs => (some false, cs)
  | '-' :: cs => (some true, cs)
  | cs => (none, cs)

def basedInteger? (base : Nat) (digits : List Char) : Option Item :=
  if isSpaced (isDigitOf base) digits && (withoutUnderscores digits).all (isDigitOf base) then
    some (.integer ((natOfDigits? base (withoutUnderscores digits)).map Int.ofNat))
  else none

def decimalInteger? (negative : Bool) (body : List Char) : Option Item :=
  if body.head? = some '0' ∧ body.length ≠ 1 then none
  else
    some (.integer ((natOfDigits? 10 (withoutUnderscores body)).map fun n =>
      if negative then -n else n))

def decimalReal? (negative : Bool) (body : List Char) : Option Item :=
  match Json.Literal.read? (withoutUnderscores body) with
  | some (l, []) =>
    match Double.ofRank? negative l.decimal.nearestRank with
    | some x => some (.real (.finite x))
    | none => some (.real .outOfRange)
  | _ => none

def isRealMark (c : Char) : Bool := c = '.' || c = 'e' || c = 'E'

def decimalOfToken? (negative : Bool) (body : List Char) : Option Item :=
  let rest := body.dropWhile Char.isDigit
  if rest.contains ' ' then none
  else if rest.any isRealMark then
    if isSpaced Char.isDigit body then decimalReal? negative body else none
  else if rest.isEmpty || rest.head? = some '_' then
    if isSpaced (isDigitOf 16) body then decimalInteger? negative body else none
  else none

def numberOfToken? (token : List Char) : Option Item :=
  match readSign token with
  | (_, ['i', 'n', 'f']) | (_, ['n', 'a', 'n']) => some (.real .special)
  | (sign, '0' :: 'x' :: digits) => if sign.isSome then none else basedInteger? 16 digits
  | (sign, '0' :: 'o' :: digits) => if sign.isSome then none else basedInteger? 8 digits
  | (sign, '0' :: 'b' :: digits) => if sign.isSome then none else basedInteger? 2 digits
  | (sign, c :: cs) => if c.isDigit then decimalOfToken? (sign = some true) (c :: cs) else none
  | (_, []) => none

end SortPipeline.Toml
