import SortPipeline.Double.Shortest
import SortPipeline.Json.Value

namespace SortPipeline

/-- Doubles from `10 ^ -5` up to `10 ^ 16` are written plainly, with a point; all others with one
digit before the point and a signed exponent. -/
def Decimal.text (d : Decimal) : String :=
  let digits := toString d.digits
  let count : Int := digits.length
  let point := count + d.exponent
  if 0 ≤ d.exponent ∧ point ≤ 16 then
    digits ++ "".pushn '0' d.exponent.toNat ++ ".0"
  else if 0 < point ∧ point ≤ 16 then
    String.ofList (digits.toList.take point.toNat) ++ "." ++
      String.ofList (digits.toList.drop point.toNat)
  else if -5 < point ∧ point ≤ 0 then
    "0." ++ "".pushn '0' (-point).toNat ++ digits
  else
    let tail := String.ofList (digits.toList.drop 1)
    String.ofList (digits.toList.take 1) ++ (if tail.isEmpty then "" else "." ++ tail) ++
      (if 0 < point then "e+" else "e-") ++ toString (point - 1).natAbs

def Double.text (x : Double) : String :=
  (if x.negative then "-" else "") ++ (Decimal.shortest x.rank).text

def Number.text : Number → String
  | .int n => toString n
  | .double x => x.text

namespace Value

def hexDigit (n : Nat) : Char := if n < 10 then Char.ofNat (48 + n) else Char.ofNat (87 + n)

def escape (c : Char) : List Char :=
  if c = '"' then ['\\', '"']
  else if c = '\\' then ['\\', '\\']
  else if 32 ≤ c.toNat then [c]
  else
    match c.toNat with
    | 8 => ['\\', 'b']
    | 9 => ['\\', 't']
    | 10 => ['\\', 'n']
    | 12 => ['\\', 'f']
    | 13 => ['\\', 'r']
    | n => ['\\', 'u', '0', '0', hexDigit (n / 16), hexDigit (n % 16)]

def quote (s : String) : String :=
  "\"" ++ String.ofList (s.toList.flatMap escape) ++ "\""

mutual

def text : Value → String
  | .null => "null"
  | .bool b => if b then "true" else "false"
  | .number n => n.text
  | .string s => quote s
  | .array items => "[" ++ textItems items ++ "]"
  | .object members => "\x7b" ++ textMembers members ++ "\x7d"

def textItems : List Value → String
  | [] => ""
  | [v] => v.text
  | v :: w :: rest => v.text ++ "," ++ textItems (w :: rest)

def textMembers : List (String × Value) → String
  | [] => ""
  | [(k, v)] => quote k ++ ":" ++ v.text
  | (k, v) :: m :: rest => quote k ++ ":" ++ v.text ++ "," ++ textMembers (m :: rest)

end

def indent (depth : Nat) : String := "\n".pushn ' ' (2 * depth)

mutual

def indentedText (depth : Nat) : Value → String
  | .array [] => "[]"
  | .array items => "[" ++ indentedItems (depth + 1) items ++ indent depth ++ "]"
  | .object [] => "\x7b\x7d"
  | .object members => "\x7b" ++ indentedMembers (depth + 1) members ++ indent depth ++ "\x7d"
  | .null => "null"
  | .bool b => if b then "true" else "false"
  | .number n => n.text
  | .string s => quote s

def indentedItems (depth : Nat) : List Value → String
  | [] => ""
  | [v] => indent depth ++ v.indentedText depth
  | v :: w :: rest => indent depth ++ v.indentedText depth ++ "," ++ indentedItems depth (w :: rest)

def indentedMembers (depth : Nat) : List (String × Value) → String
  | [] => ""
  | [(k, v)] => indent depth ++ quote k ++ ": " ++ v.indentedText depth
  | (k, v) :: m :: rest =>
    indent depth ++ quote k ++ ": " ++ v.indentedText depth ++ "," ++
      indentedMembers depth (m :: rest)

end

end Value

end SortPipeline
