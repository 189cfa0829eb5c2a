import SortPipeline.Document.Path
import SortPipeline.Instant
import SortPipeline.SortKeys

/-! The order of values: null and missing first, then numbers, strings, objects, arrays, booleans
and dates. A date is an object whose one member `$date` is an instant. -/

namespace SortPipeline

/-- Integers that fit 64 bits with sign are compared exactly, all other pairs as doubles. -/
def Number.compare (a b : Number) : Ordering :=
  match a.int64?, b.int64? with
  | some a, some b => Ord.compare a b
  | _, _ => Ord.compare a.key b.key

namespace Value

def dateMillis? : List (String × Value) → Option Int
  | [("$date", .string text)] => Instant.millis? text
  | [("$date", .number n)] => n.int64?
  | _ => none

def rank : Value → Nat
  | .null => 1
  | .number _ => 2
  | .string _ => 3
  | .object members => if (dateMillis? members).isSome then 9 else 4
  | .array _ => 5
  | .bool _ => 8

mutual

def compare : Value → Value → Ordering
  | .number a, .number b => a.compare b
  | .string a, .string b => Ord.compare a b
  | .bool a, .bool b => Ord.compare a b
  | .array as, .array bs => compareItems as bs
  | .object as, .object bs =>
    match dateMillis? as, dateMillis? bs with
    | some a, some b => Ord.compare a b
    | none, none => compareMembers as bs
    | some _, none => .gt
    | none, some _ => .lt
  | a, b => Ord.compare a.rank b.rank
termination_by structural a => a

def compareItems : List Value → List Value → Ordering
  | [], [] => .eq
  | [], _ :: _ => .lt
  | _ :: _, [] => .gt
  | a :: as, b :: bs => (a.compare b).then (compareItems as bs)
termination_by structural as => as

def compareMembers : List (String × Value) → List (String × Value) → Ordering
  | [], [] => .eq
  | [], _ :: _ => .lt
  | _ :: _, [] => .gt
  | (m, a) :: as, (n, b) :: bs =>
    ((a.compare b).then (Ord.compare m n)).then (compareMembers as bs)
termination_by structural as => as

end

def compare? (a b : Option Value) : Ordering := (a.getD .null).compare (b.getD .null)

def compareBy : List (String × Direction) → Value → Value → Ordering
  | [], _, _ => .eq
  | (path, direction) :: rest, a, b =>
    (direction.apply (compare? (a.getPath? path) (b.getPath? path))).then (compareBy rest a b)

end Value

def SortKeys.compare (keys : SortKeys) (a b : Value) : Ordering := Value.compareBy keys.entries a b

end SortPipeline
