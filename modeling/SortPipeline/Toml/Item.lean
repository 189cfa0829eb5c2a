import SortPipeline.Document.StableSort
import SortPipeline.Double.Basic
import SortPipeline.Entries
import SortPipeline.Json.Value

namespace SortPipeline.Toml

inductive Origin
  | header -- written under a header, or the root
  | implied -- needed by a longer header
  | dotted
  | inline
  deriving DecidableEq

inductive Real
  | finite (x : Double)
  | special -- an infinity or no number
  | outOfRange
  deriving DecidableEq

inductive Item
  | string (s : String)
  | integer (n : Option Int) -- no number if it is not spelled out in digits
  | real (x : Real)
  | bool (b : Bool)
  | datetime (text : String)
  | array (items : List Item)
  | tables (elements : List Item)
  | table (origin : Origin) (entries : List (String × Item))

namespace Item

def sortEntries {α : Type u} (entries : List (String × α)) : List (String × α) :=
  StableSort.sort (fun a b => a.1 < b.1) entries

def datetimeName : String := "$__toml_private_datetime"

mutual

/-- The value of an item, tables sorted by name. There is none for integers without a number or
beyond 64 bits, and for decimals beyond the doubles. -/
def value? : Item → Option Value
  | .string s => some (.string s)
  | .integer n => (n.filter fun n => -2 ^ 63 ≤ n ∧ n < 2 ^ 64).map fun n => .number (.int n)
  | .real (.finite x) => some (.number (.double x))
  | .real .special => some .null
  | .real .outOfRange => none
  | .bool b => some (.bool b)
  | .datetime text => some (.object [(datetimeName, .string text)])
  | .array items => (values? items).map .array
  | .tables elements => (values? elements).map .array
  | .table _ entries => (entryValues? entries).map fun es => .object (sortEntries es)

def values? : List Item → Option (List Value)
  | [] => some []
  | i :: rest => do
    let v ← i.value?
    let vs ← values? rest
    return v :: vs

def entryValues? : List (String × Item) → Option (List (String × Value))
  | [] => some []
  | (name, i) :: rest => do
    let v ← i.value?
    let vs ← entryValues? rest
    return (name, v) :: vs

end

mutual

/-- Whether an item without a use can be passed over: integers may have 128 bits then. -/
def isPassable : Item → Bool
  | .integer n => n.any fun n => -2 ^ 127 ≤ n ∧ n < 2 ^ 128
  | .real .outOfRange => false
  | .array items => allPassable items
  | .tables elements => allPassable elements
  | .table _ entries => entriesPassable entries
  | _ => true

def allPassable : List Item → Bool
  | [] => true
  | i :: rest => i.isPassable && allPassable rest

def entriesPassable : List (String × Item) → Bool
  | [] => true
  | (_, i) :: rest => i.isPassable && entriesPassable rest

end

end Item

end SortPipeline.Toml
