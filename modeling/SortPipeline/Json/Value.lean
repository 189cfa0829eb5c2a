import SortPipeline.Double.Basic
import SortPipeline.Entries

namespace SortPipeline

inductive Number
  | int (n : Int)
  | double (x : Double)
  deriving DecidableEq

inductive Value
  | null
  | bool (b : Bool)
  | number (n : Number)
  | string (s : String)
  | array (items : List Value)
  | object (members : List (String × Value))

namespace Number

def int64? : Number → Option Int
  | .int n => if -9223372036854775808 ≤ n ∧ n < 9223372036854775808 then some n else none
  | .double _ => none

def key : Number → Int
  | .int n => Double.keyOfInt n
  | .double x => x.key

end Number

namespace Value

def isNull : Value → Bool
  | .null => true
  | _ => false

def members? : Value → Option (List (String × Value))
  | .object members => some members
  | _ => none

def items? : Value → Option (List Value)
  | .array items => some items
  | _ => none

def text? : Value → Option String
  | .string s => some s
  | _ => none

def member? (name : String) : Value → Option Value
  | .object members => Entries.get? name members
  | _ => none

end Value

end SortPipeline
