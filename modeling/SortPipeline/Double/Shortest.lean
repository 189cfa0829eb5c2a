import SortPipeline.Double.Basic

/-! The shortest decimal of a double: the fewest digits that read back to it, and of those the
nearest to it. -/

namespace SortPipeline

structure Decimal where
  digits : Nat
  exponent : Int
  deriving DecidableEq

namespace Decimal

def ratio (d : Decimal) : Nat × Nat :=
  match d.exponent with
  | .ofNat n => (d.digits * Nat.pow 10 n * Nat.pow 2 1074, 1)
  | .negSucc n => (d.digits * Nat.pow 2 1074, Nat.pow 10 (n + 1))

/-- Whether the decimal lies no farther from the double of this rank than half way to its
neighbours; half way itself rounds to the even rank. -/
def readsBack (d : Decimal) (rank : Nat) : Bool :=
  let (num, den) := d.ratio
  let low := (Double.units (rank - 1) + Double.units rank) * den
  let high := (Double.units rank + Double.units (rank + 1)) * den
  if rank % 2 == 0 then low ≤ 2 * num && 2 * num ≤ high else low < 2 * num && 2 * num < high

def magnitude (rank : Nat) : Int :=
  let units := Double.units rank
  let guess := ((units.log2 : Int) - 1074) * 30103 / 100000
  let atMost (p : Int) : Bool :=
    let (num, den) := (Decimal.mk 1 p).ratio
    num ≤ units * den
  if atMost (guess + 1) then guess + 1 else if atMost guess then guess else guess - 1

def nearest? (rank : Nat) (exponent : Int) : Option Decimal :=
  let (num, den) := (Decimal.mk 1 exponent).ratio
  let units := Double.units rank * den
  let below : Decimal := ⟨units / num, exponent⟩
  let above : Decimal := ⟨units / num + 1, exponent⟩
  let rest := 2 * (units % num)
  let preferAbove := num < rest || (rest == num && below.digits % 2 == 1)
  let candidates := if preferAbove then [above, below] else [below, above]
  candidates.find? (·.readsBack rank)

def stripZeros : Nat → Decimal → Decimal
  | 0, d => d
  | fuel + 1, d =>
    if d.digits % 10 == 0 && d.digits != 0 then stripZeros fuel ⟨d.digits / 10, d.exponent + 1⟩
    else d

/-- Seventeen digits always read back; behind them stands the exact value. -/
def shortest (rank : Nat) : Decimal :=
  if rank = 0 then ⟨0, 0⟩
  else
    let top := magnitude rank
    let found := (List.range 17).findSome? fun (n : Nat) => nearest? rank (top - n)
    stripZeros 20 (found.getD ⟨Double.units rank * Nat.pow 5 1074, -1074⟩)

end Decimal

end SortPipeline
