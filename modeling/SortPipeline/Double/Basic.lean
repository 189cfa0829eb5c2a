/-! Finite doubles. Counting the nonnegative doubles upwards from zero gives each a rank, which
orders them; each is also a whole number of units, the unit being the least positive double. -/

namespace SortPipeline

/-- A finite double: its sign, and the rank of its magnitude. -/
structure Double where
  negative : Bool
  rank : Nat
  rank_lt : rank < 2047 * Nat.pow 2 52
  deriving DecidableEq

namespace Double

def infiniteRank : Nat := 2047 * Nat.pow 2 52

/-- The magnitude of a rank, in units of `2 ^ -1074`. -/
def units (rank : Nat) : Nat :=
  let period := Nat.pow 2 52
  if rank < period then rank
  else (period + rank % period) * Nat.pow 2 (rank / period - 1)

def nearestRank (num den : Nat) : Nat :=
  let scaled := num * Nat.pow 2 1074
  let shift := (scaled / den).log2 - 52
  let step := den * Nat.pow 2 shift
  let quotient := scaled / step
  let rest := 2 * (scaled % step)
  let up := step < rest || (rest == step && quotient % 2 == 1)
  shift * Nat.pow 2 52 + (if up then quotient + 1 else quotient)

def ofRank? (negative : Bool) (rank : Nat) : Option Double :=
  if h : rank < 2047 * Nat.pow 2 52 then some ⟨negative, rank, h⟩ else none

def zero (negative : Bool) : Double := ⟨negative, 0, by decide⟩

def key (x : Double) : Int := if x.negative then -x.rank else x.rank

def keyOfInt : Int → Int
  | .ofNat n => nearestRank n 1
  | .negSucc n => -nearestRank (n + 1) 1

end Double

end SortPipeline
