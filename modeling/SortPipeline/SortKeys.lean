import SortPipeline.Entries
import SortPipeline.Json.Value

namespace SortPipeline

inductive Direction
  | ascending
  | descending
  deriving DecidableEq

namespace Direction

def ofDescending : Bool → Direction
  | true => .descending
  | false => .ascending

def flip : Direction → Direction
  | .ascending => .descending
  | .descending => .ascending

def apply : Direction → Ordering → Ordering
  | .ascending, o => o
  | .descending, o => o.swap

def sign : Direction → Int
  | .ascending => 1
  | .descending => -1

def label : Direction → String
  | .ascending => "asc"
  | .descending => "desc"

def name : Direction → String
  | .ascending => "ascending"
  | .descending => "descending"

def toValue (d : Direction) : Value := .string d.name

def ofName? : String → Option Direction
  | "ascending" => some .ascending
  | "descending" => some .descending
  | _ => none

def ofValue? : Value → Option Direction
  | .string name => ofName? name
  | .object [(name, .null)] => ofName? name
  | _ => none

end Direction

structure SortKeys where
  entries : List (String × Direction)

namespace SortKeys

def empty : SortKeys := ⟨[]⟩

def get? (path : String) (keys : SortKeys) : Option Direction := Entries.get? path keys.entries

def contains (path : String) (keys : SortKeys) : Bool := (keys.get? path).isSome

def set (path : String) (direction : Direction) (keys : SortKeys) : SortKeys :=
  ⟨Entries.set path direction keys.entries⟩

def insert (path : String) (direction : Direction) (keys : SortKeys) : SortKeys × Bool :=
  let (entries, isNew) := Entries.insert path direction keys.entries
  (⟨entries⟩, isNew)

def ofList (entries : List (String × Direction)) : SortKeys := ⟨Entries.ofList entries⟩

def idAscending : SortKeys := empty.set "_id" .ascending

def size (keys : SortKeys) : Nat := keys.entries.length

def isEmpty (keys : SortKeys) : Bool := keys.entries.isEmpty

def flip (keys : SortKeys) : SortKeys := ⟨keys.entries.map fun (path, d) => (path, d.flip)⟩

def toValue (keys : SortKeys) : Value :=
  .array (keys.entries.map fun (path, d) => .array [.string path, d.toValue])

def entryOfValue? : Value → Option (String × Direction)
  | .array [.string path, d] => (Direction.ofValue? d).map (path, ·)
  | _ => none

/-- Stored keys are taken as they stand; a path that is stored twice stays twice. -/
def ofValue? : Value → Option SortKeys
  | .array items => (items.mapM entryOfValue?).map .mk
  | _ => none

/-- As one object: a repeated path keeps its first place and its last direction. -/
def render (keys : SortKeys) : Value :=
  .object (Entries.ofList (keys.entries.map fun (path, d) => (path, .number (.int d.sign))))

end SortKeys

end SortPipeline
