import SortPipeline.Instant

namespace SortPipeline.Toml

open Instant (readDigits? readMark? daysInMonth)

def twoDigits (n : Nat) : List Char := [Nat.digitChar (n / 10), Nat.digitChar (n % 10)]

def fractionText (digits : List Char) : List Char :=
  match ((digits.take 9).reverse.dropWhile (· = '0')).reverse with
  | [] => []
  | digits => '.' :: digits

def readDate? (cs : List Char) : Option (List Char × List Char) := do
  let text := cs.take 10
  let (year, cs) ← readDigits? 4 0 cs
  let cs ← readMark? (· = '-') cs
  let (month, cs) ← readDigits? 2 0 cs
  let cs ← readMark? (· = '-') cs
  let (day, cs) ← readDigits? 2 0 cs
  if 1 ≤ month ∧ month ≤ 12 ∧ 1 ≤ day ∧ day ≤ daysInMonth year month then
    return (text, cs)
  else none

def readSeconds? : List Char → Option (List Char × List Char)
  | ':' :: cs => do
    let (second, cs) ← readDigits? 2 0 cs
    if second ≤ 60 then
      match cs with
      | '.' :: cs =>
        let digits := cs.takeWhile Char.isDigit
        if digits.isEmpty then none
        else return (twoDigits second ++ fractionText digits, cs.dropWhile Char.isDigit)
      | cs => return (twoDigits second, cs)
    else none
  | cs => some (twoDigits 0, cs)

def readTime? (cs : List Char) : Option (List Char × List Char) := do
  let (hour, cs) ← readDigits? 2 0 cs
  let cs ← readMark? (· = ':') cs
  let (minute, cs) ← readDigits? 2 0 cs
  if hour < 24 ∧ minute < 60 then
    let (seconds, cs) ← readSeconds? cs
    return (twoDigits hour ++ ':' :: twoDigits minute ++ ':' :: seconds, cs)
  else none

def readOffset? : List Char → Option (List Char × List Char)
  | [] => some ([], [])
  | c :: cs =>
    if c = 'Z' ∨ c = 'z' then some (['Z'], cs)
    else if c = '+' ∨ c = '-' then do
      let (hours, cs) ← readDigits? 2 0 cs
      let cs ← readMark? (· = ':') cs
      let (minutes, cs) ← readDigits? 2 0 cs
      if hours < 24 ∧ minutes < 60 then
        let sign := if c = '-' ∧ hours + minutes ≠ 0 then '-' else '+'
        return (sign :: twoDigits hours ++ ':' :: twoDigits minutes, cs)
      else none
    else none

/-- A date, a time, or both; only both together may have an offset. -/
def datetimeOfToken? (token : List Char) : Option (List Char) :=
  match readDate? token with
  | some (date, []) => some date
  | some (date, c :: cs) => do
    if c = 'T' ∨ c = 't' ∨ c = ' ' then
      let (time, cs) ← readTime? cs
      let (offset, cs) ← readOffset? cs
      if cs.isEmpty then return date ++ 'T' :: time ++ offset else none
    else none
  | none =>
    match readTime? token with
    | some (time, []) => some time
    | _ => none

end SortPipeline.Toml
