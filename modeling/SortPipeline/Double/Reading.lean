import SortPipeline.Double.Shortest

namespace SortPipeline

namespace Decimal

def digitCount (n : Nat) : Nat := (Nat.toDigits 10 n).length

/-- The rank of the double nearest to the decimal. Decimals from `10 ^ 400` up or below
`10 ^ -400` are told by their size alone. -/
def nearestRank (d : Decimal) : Nat :=
  let point := (digitCount d.digits : Int) + d.exponent
  if d.digits = 0 ∨ point < -400 then 0
  else if 400 < point then Double.infiniteRank
  else
    match d.exponent with
    | .ofNat n => Double.nearestRank (d.digits * Nat.pow 10 n) 1
    | .negSucc n => Double.nearestRank d.digits (Nat.pow 10 (n + 1))

end Decimal

namespace Double

def timesPower (rank k : Nat) : Nat :=
  nearestRank (units rank * units (nearestRank (Nat.pow 10 k) 1)) (Nat.pow 2 2148)

def overPower (rank k : Nat) : Nat :=
  nearestRank (units rank) (units (nearestRank (Nat.pow 10 k) 1))

def scaleDown (rank k : Nat) : Nat :=
  if k ≤ 308 then overPower rank k
  else if rank = 0 then 0
  else scaleDown (overPower rank 308) (k - 308)
termination_by k

def scaleRank? (rank : Nat) : Int → Option Nat
  | .negSucc n => some (scaleDown rank (n + 1))
  | .ofNat n =>
    if n ≤ 308 then
      let scaled := timesPower rank n
      if scaled < infiniteRank then some scaled else none
    else if rank = 0 then some 0 else none

end Double

end SortPipeline
