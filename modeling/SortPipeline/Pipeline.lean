import SortPipeline.Expr
import SortPipeline.Fault
import SortPipeline.SortKeys

namespace SortPipeline

inductive Stage
  | set (assignments : List (String × Expr))
  | sort (keys : SortKeys)
  | unset (names : List String)

namespace Stage

def render : Stage → Value
  | .set assignments =>
    .object [("$set", .object (Entries.ofList (assignments.map fun (name, e) => (name, e.render))))]
  | .sort keys => .object [("$sort", keys.render)]
  | .unset names => .object [("$unset", .array (names.map .string))]

def assignmentToValue : String × Expr → Value
  | (name, e) => .array [.string name, e.toValue]

def toValue : Stage → Value
  | .set assignments =>
    .object [("set", .object [("assignments", .array (assignments.map assignmentToValue))])]
  | .sort keys => .object [("sort", .object [("keys", keys.toValue)])]
  | .unset names => .object [("unset", .object [("names", .array (names.map .string))])]

def assignmentOfValue? : Value → Option (String × Expr)
  | .array [.string name, e] => (Expr.ofValue? e).map (name, ·)
  | _ => none

def part (name : String) (body : List (String × Value)) (read? : Value → Option α) :
    Except Fault α :=
  match Entries.get? name body with
  | none => .error (.missing name)
  | some v => Fault.orMalformed (read? v)

def ofValue : Value → Except Fault Stage
  | .object [("set", .object body)] =>
    .set <$> part "assignments" body fun v => v.items?.bind (·.mapM assignmentOfValue?)
  | .object [("sort", .object body)] => .sort <$> part "keys" body SortKeys.ofValue?
  | .object [("unset", .object body)] =>
    .unset <$> part "names" body fun v => v.items?.bind (·.mapM Value.text?)
  | _ => .error .malformed

end Stage

structure Pipeline where
  stages : List Stage

namespace Pipeline

def sortOnly (keys : SortKeys) : Pipeline := ⟨[.sort keys]⟩

def size (p : Pipeline) : Nat := p.stages.length

def sortKeys? (p : Pipeline) : Option SortKeys :=
  p.stages.findSome? fun
    | .sort keys => some keys
    | _ => none

def assignments? (p : Pipeline) : Option (List (String × Expr)) :=
  p.stages.findSome? fun
    | .set assignments => some assignments
    | _ => none

def unsetNames? (p : Pipeline) : Option (List String) :=
  p.stages.findSome? fun
    | .unset names => some names
    | _ => none

def render (p : Pipeline) : Value := .array (p.stages.map (·.render))

def toValue (p : Pipeline) : Value := .array (p.stages.map (·.toValue))

def ofValue : Value → Except Fault Pipeline
  | .array items => .mk <$> items.mapM Stage.ofValue
  | _ => .error .malformed

end Pipeline

end SortPipeline
