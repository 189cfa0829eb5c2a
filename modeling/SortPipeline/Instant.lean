namespace SortPipeline.Instant

def digitValue? (c : Char) : Option Nat :=
  if c.isDigit then some (c.toNat - 48) else none

def readDigits? : (count : Nat) → (n : Nat) → List Char → Option (Nat × List Char)
  | 0, n, cs => some (n, cs)
  | _ + 1, _, [] => none
  | count + 1, n, c :: cs => (digitValue? c).bind fun d => readDigits? count (10 * n + d) cs

def readMark? (accepted : Char → Bool) : List Char → Option (List Char)
  | c :: cs => if accepted c then some cs else none
  | [] => none

def isLeapYear (year : Nat) : Bool :=
  year % 4 == 0 && (year % 100 != 0 || year % 400 == 0)

def daysInMonth (year month : Nat) : Nat :=
  if month = 2 then if isLeapYear year then 29 else 28
  else if month = 4 ∨ month = 6 ∨ month = 9 ∨ month = 11 then 30
  else 31

/-- Days from the first of January 1970. The year is taken to begin in March, so that a leap day
is its last. -/
def dayNumber (year month day : Nat) : Int :=
  let year : Int := if month ≤ 2 then year - 1 else year
  let month := if month ≤ 2 then month + 9 else month - 3
  365 * year + year / 4 - year / 100 + year / 400 + ((153 * month + 2) / 5 + day : Nat) - 719469

def fractionMillis (digits : List Char) : Nat :=
  ((digits ++ ['0', '0', '0']).take 3).foldl (fun n c => 10 * n + (c.toNat - 48)) 0

def readFraction? : List Char → Option (Nat × List Char)
  | '.' :: cs =>
    let digits := cs.takeWhile Char.isDigit
    if digits.isEmpty then none
    else some (fractionMillis digits, cs.dropWhile Char.isDigit)
  | cs => some (0, cs)

def readOffset? : List Char → Option (Int × List Char)
  | [] => none
  | c :: cs =>
    if c = 'Z' ∨ c = 'z' then some (0, cs)
    else if c = '+' ∨ c = '-' ∨ c = '\u2212' then do
      let (hours, cs) ← readDigits? 2 0 cs
      let cs ← readMark? (· = ':') cs
      let (minutes, cs) ← readDigits? 2 0 cs
      if hours < 24 ∧ minutes < 60 then
        let offset : Int := 60 * hours + minutes
        some (if c = '+' then offset else -offset, cs)
      else none
    else none

/-- The second 60 is read in every minute and reaches into the next. -/
def millis? (text : String) : Option Int := do
  let (year, cs) ← readDigits? 4 0 text.toList
  let cs ← readMark? (· = '-') cs
  let (month, cs) ← readDigits? 2 0 cs
  let cs ← readMark? (· = '-') cs
  let (day, cs) ← readDigits? 2 0 cs
  let cs ← readMark? (fun c => c = 'T' || c = 't' || c = ' ') cs
  let (hour, cs) ← readDigits? 2 0 cs
  let cs ← readMark? (· = ':') cs
  let (minute, cs) ← readDigits? 2 0 cs
  let cs ← readMark? (· = ':') cs
  let (second, cs) ← readDigits? 2 0 cs
  let (fraction, cs) ← readFraction? cs
  let (offset, cs) ← readOffset? cs
  if cs.isEmpty ∧ 1 ≤ month ∧ month ≤ 12 ∧ 1 ≤ day ∧ day ≤ daysInMonth year month ∧
      hour < 24 ∧ minute < 60 ∧ second ≤ 60 then
    let minutes := 24 * 60 * dayNumber year month day + (60 * hour + minute : Nat) - offset
    some (60000 * minutes + (1000 * second + fraction : Nat))
  else none

end SortPipeline.Instant
