import SortPipeline.Double.Reading
import SortPipeline.Json.Value

namespace SortPipeline.Json

structure Literal where
  negative : Bool
  whole : List Char
  fraction : Option (List Char)
  exponent : Option (Bool × List Char)

def digitValue (c : Char) : Nat := c.toNat - 48

def natOfDigits (digits : List Char) : Nat :=
  digits.foldl (fun n c => 10 * n + digitValue c) 0

namespace Literal

def power (l : Literal) : Int :=
  match l.exponent with
  | none => 0
  | some (negative, digits) => if negative then -natOfDigits digits else natOfDigits digits

def decimal (l : Literal) : Decimal :=
  let fraction := l.fraction.getD []
  ⟨natOfDigits (l.whole ++ fraction), l.power - fraction.length⟩

/-- Takes digits into a significand of 64 bits until one more would not fit; with it comes the
number of digits left over. -/
def gather (significand : Nat) : List Char → Nat × Nat
  | [] => (significand, 0)
  | c :: cs =>
    let next := 10 * significand + digitValue c
    if next < Nat.pow 2 64 then gather next cs else (significand, cs.length + 1)

/-- A zero with a sign, or an integer below 64 bits, is a double. -/
def integer (negative : Bool) (n : Nat) : Option Number :=
  if !negative then some (.int n)
  else if n = 0 ∨ Nat.pow 2 63 < n then
    (Double.ofRank? true (Double.nearestRank n 1)).map .double
  else some (.int (-n))

/-- The significand is rounded first and then scaled by its power of ten. -/
def scaled (negative : Bool) (significand : Nat) (exponent : Int) : Option Number := do
  let rank ← Double.scaleRank? (Double.nearestRank significand 1) exponent
  let x ← Double.ofRank? negative rank
  return .double x

def number? (l : Literal) : Option Number :=
  let (whole, wholeLeft) := gather 0 l.whole
  let fraction := l.fraction.getD []
  let (significand, fractionLeft) := gather whole fraction
  if wholeLeft = 0 ∧ l.fraction.isNone ∧ l.exponent.isNone then integer l.negative whole
  else scaled l.negative significand (wholeLeft - (fraction.length - fractionLeft : Nat) + l.power)

def read? (cs : List Char) : Option (Literal × List Char) :=
  let (negative, cs) :=
    match cs with
    | '-' :: rest => (true, rest)
    | _ => (false, cs)
  let whole := cs.takeWhile Char.isDigit
  let cs := cs.dropWhile Char.isDigit
  if whole.isEmpty ∨ (whole.head? = some '0' ∧ whole.length ≠ 1) then none
  else
    match readFraction? cs with
    | none => none
    | some (fraction, cs) =>
      match readExponent? cs with
      | none => none
      | some (exponent, cs) => some (⟨negative, whole, fraction, exponent⟩, cs)
where
  readFraction? (cs : List Char) : Option (Option (List Char) × List Char) :=
    match cs with
    | '.' :: rest =>
      let digits := rest.takeWhile Char.isDigit
      if digits.isEmpty then none else some (some digits, rest.dropWhile Char.isDigit)
    | _ => some (none, cs)
  readExponent? (cs : List Char) : Option (Option (Bool × List Char) × List Char) :=
    match cs with
    | c :: rest =>
      if c = 'e' ∨ c = 'E' then
        let (negative, rest) :=
          match rest with
          | '-' :: r => (true, r)
          | '+' :: r => (false, r)
          | _ => (false, rest)
        let digits := rest.takeWhile Char.isDigit
        if digits.isEmpty then none
        else some (some (negative, digits), rest.dropWhile Char.isDigit)
      else some (none, cs)
    | [] => some (none, cs)

end Literal

end SortPipeline.Json
