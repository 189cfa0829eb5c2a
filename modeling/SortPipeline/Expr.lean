import SortPipeline.Json.Value

namespace SortPipeline

inductive Expr
  | field (path : String)
  | literal (value : Value)
  | lower (inner : Expr)
  | size (inner : Expr)
  | coalesce (candidates : List Expr)

namespace Expr

/-- A literal that would be taken for a path or an operator is marked as a literal. -/
def renderLiteral : Value → Value
  | .string s => if s.toList.head? = some '$' then .object [("$literal", .string s)] else .string s
  | .object members => .object [("$literal", .object members)]
  | .array items => .object [("$literal", .array items)]
  | v => v

mutual

def render : Expr → Value
  | .field path => .string ("$" ++ path)
  | .literal value => renderLiteral value
  | .lower inner => .object [("$toLower", inner.render)]
  | .size inner => .object [("$size", inner.render)]
  | .coalesce [] => .null
  | .coalesce [candidate] => candidate.render
  | .coalesce candidates => .object [("$ifNull", .array (renderAll candidates))]

def renderAll : List Expr → List Value
  | [] => []
  | e :: es => e.render :: renderAll es

end

mutual

def toValue : Expr → Value
  | .field path => .object [("field", .string path)]
  | .literal value => .object [("literal", value)]
  | .lower inner => .object [("lower", inner.toValue)]
  | .size inner => .object [("size", inner.toValue)]
  | .coalesce candidates => .object [("coalesce", .array (toValues candidates))]

def toValues : List Expr → List Value
  | [] => []
  | e :: es => e.toValue :: toValues es

end

mutual

def ofValue? : Value → Option Expr
  | .object [("field", .string path)] => some (.field path)
  | .object [("literal", value)] => some (.literal value)
  | .object [("lower", inner)] => (ofValue? inner).map .lower
  | .object [("size", inner)] => (ofValue? inner).map .size
  | .object [("coalesce", .array items)] => (ofValues? items).map .coalesce
  | _ => none

def ofValues? : List Value → Option (List Expr)
  | [] => some []
  | v :: vs => do
    let e ← ofValue? v
    let es ← ofValues? vs
    return e :: es

end

end Expr

end SortPipeline
